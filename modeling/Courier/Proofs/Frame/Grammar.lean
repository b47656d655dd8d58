import Courier.Proofs.Frame.Length

/-!
# What the reader of frames accepts

A block is a frame as it may be written: its length field may have zeros in
front. A text is read if and only if it is a sequence of blocks, and what is
read are their frames. So the checks of the reader and everything that it
searches for come down to one grammar, and no value can imitate the end of its
frame.

The checks are compared with the bytes of one frame first, in
`Checked.exists_written` and `checked_written`. What is behind a frame plays
no part in reading it, so texts follow by induction.
-/

namespace Courier

namespace Frame

/-- What stands before the name of a frame with the given length field. -/
def opening (field : Bytes) : Bytes :=
  Bytes.ofChar '[' :: field ++ [Bytes.ofChar ' ', Bytes.ofChar '(']

/-- The bytes of a frame with the given length field. -/
def written (field name value : Bytes) : Bytes :=
  opening field ++ (name ++ Bytes.ofChar ' ' :: value ++ Bytes.ofText trailer)

@[simp]
theorem length_opening (field : Bytes) :
    (opening field).length = field.length + 3 := by
  simp [opening]

theorem space_not_mem_field {field : Bytes} {n : Nat}
    (h : length? field = some n) : Bytes.ofChar ' ' ∉ field := by
  obtain ⟨digits, rfl, -, hdigits, -⟩ := length?_eq_some_iff.mp h
  rw [Bytes.ofText_digits hdigits]
  intro hmem
  obtain ⟨c, hc, hspace⟩ := List.mem_map.mp hmem
  have hrange := Bytes.isDigit_iff.mp (hdigits c hc)
  have hnat := Bytes.toNat_ofChar (Bytes.lt_of_isDigit (hdigits c hc))
  rw [hspace] at hnat
  have : (Bytes.ofChar ' ').toNat = 32 := rfl
  omega

theorem idxOf?_opening {field : Bytes} (h : Bytes.ofChar ' ' ∉ field)
    (tail : Bytes) :
    (opening field ++ tail).idxOf? (Bytes.ofChar ' ') =
      some (field.length + 1) := by
  refine Bytes.idxOf?_eq_some_iff.mpr ⟨Bytes.ofChar '[' :: field,
    Bytes.ofChar '(' :: tail, by simp [opening], ?_, rfl⟩
  rw [List.mem_cons, not_or]
  exact ⟨by decide, h⟩

theorem field_opening (field tail : Bytes) :
    Layout.field (field.length + 1) (opening field ++ tail) = field := by
  simp [Layout.field, opening]

/-! ## The checks of the reader -/

/-- What the reader has checked when it has found a frame: where its first
space is, its length, and how long its name is. -/
structure Checked (b : Bytes) (space length gap : Nat) : Prop where
  bracket : b.head? = some (Bytes.ofChar '[')
  firstSpace : b.idxOf? (Bytes.ofChar ' ') = some space
  declared : length? (Layout.field space b) = some length
  long : ¬ length < overhead
  fits : ¬ (b.take (space + 2 + length)).length < space + 2 + length
  paren : (b.take (space + 2 + length))[space + 1]? = some (Bytes.ofChar '(')
  trailer : (b.take (space + 2 + length)).drop (space + 2 + length - 3) =
    Bytes.ofText trailer
  separator : (((b.take (space + 2 + length)).take (space + 2 + length - 3)).drop
    (space + 2)).idxOf? (Bytes.ofChar ' ') = some gap

theorem locate_eq_ok_iff_checked {offset : Nat} {b : Bytes} {l : Layout} :
    Layout.locate offset b = .ok l ↔
      ∃ space length gap, Checked b space length gap ∧
        l = { space, separator := space + 2 + gap, stop := space + 2 + length } := by
  constructor
  · intro h
    simp only [Layout.locate, bind, Except.bind, pure, Except.pure, throw,
      throwThe, MonadExceptOf.throw] at h
    repeat' split at h
    all_goals try contradiction
    next hbracket _ space hspace _ length hlength hlong hfits hparen htrailer
        _ gap hgap =>
      exact ⟨space, length, gap,
        ⟨hbracket, hspace, hlength, hlong, hfits, hparen, htrailer, hgap⟩,
        (Except.ok.inj h).symm⟩
  · rintro ⟨space, length, gap, h, rfl⟩
    simp only [Layout.locate, h.bracket, h.firstSpace, h.declared, h.long,
      h.fits, h.paren, h.trailer, h.separator, if_true, if_false]
    rfl

/-- What opens with a bracket and has a parenthesis behind its first space
opens like a frame. -/
theorem Checked.exists_opening {b : Bytes} {space length gap : Nat}
    (h : Checked b space length gap) :
    ∃ field tail, b = opening field ++ tail ∧ space = field.length + 1 := by
  have hbracket := h.bracket
  have hparen := h.paren
  obtain ⟨before, after, rfl, -, rfl⟩ := Bytes.idxOf?_eq_some_iff.mp h.firstSpace
  cases before with
  | nil => cases hbracket
  | cons x field =>
      obtain rfl : x = Bytes.ofChar '[' := Option.some.inj hbracket
      rw [List.getElem?_take] at hparen
      split at hparen
      · cases after with
        | nil => simp at hparen
        | cons y tail =>
            have hy : y = Bytes.ofChar '(' := by simpa using hparen
            exact ⟨field, tail, by simp [opening, hy], rfl⟩
      · cases hparen

/-- The places that the reader looks at, counted from the name of the frame. -/
theorem places (field : Bytes) {length : Nat} (h : overhead ≤ length) :
    field.length + 1 + 2 = (opening field).length + 0 ∧
      field.length + 1 + 2 + length = (opening field).length + length ∧
      field.length + 1 + 2 + length - 3 =
        (opening field).length + (length - 3) := by
  rw [overhead] at h
  rw [length_opening]
  omega

theorem Checked.exists_written {b : Bytes} {space length gap : Nat}
    (h : Checked b space length gap) :
    ∃ field name value rest, b = written field name value ++ rest ∧
      length? field = some length ∧
      length = name.length + value.length + overhead ∧
      Bytes.ofChar ' ' ∉ name ∧
      space = field.length + 1 ∧ gap = name.length := by
  obtain ⟨field, tail, rfl, rfl⟩ := h.exists_opening
  have hlength := h.declared
  have hlong := Nat.not_lt.mp h.long
  have hfits := h.fits
  have htrailer := h.trailer
  have hgap := h.separator
  obtain ⟨hstart, hstop, hend⟩ := places field hlong
  rw [field_opening] at hlength
  rw [hstop, List.take_length_add_append, List.length_append, Nat.not_lt,
    Nat.add_le_add_iff_left, List.length_take] at hfits
  rw [hend, hstop, List.take_length_add_append,
    List.drop_length_add_append] at htrailer
  rw [hend, hstop, hstart, List.take_length_add_append,
    List.take_length_add_append, List.drop_length_add_append,
    List.drop_zero] at hgap
  obtain ⟨name, value, hbody, hname, rfl⟩ := Bytes.idxOf?_eq_some_iff.mp hgap
  have hcount := congrArg List.length hbody
  simp only [List.length_take, List.length_append, List.length_cons] at hcount
  refine ⟨field, name, value, tail.drop length, ?_, hlength, ?_, hname, rfl, rfl⟩
  · rw [written, List.append_assoc, List.append_cancel_left_eq, ← htrailer,
      ← hbody, List.take_append_drop, List.take_append_drop]
  · rw [overhead] at hlong ⊢
    omega

theorem checked_written {field name value : Bytes} (rest : Bytes)
    (hlength : length? field = some (name.length + value.length + overhead))
    (hname : Bytes.ofChar ' ' ∉ name) :
    Checked (written field name value ++ rest) (field.length + 1)
      (name.length + value.length + overhead) name.length := by
  have hfield := space_not_mem_field hlength
  generalize hbody : name ++ Bytes.ofChar ' ' :: value = body
  have hcount : name.length + value.length + overhead = body.length + 3 := by
    rw [← hbody, overhead, List.length_append, List.length_cons]
    omega
  have hlong : overhead ≤ body.length + 3 := by
    rw [← hcount]
    omega
  have hblock : (body ++ (Bytes.ofText trailer ++ rest)).take
      (body.length + 3) = body ++ Bytes.ofText trailer := by
    rw [List.take_length_add_append]
    rfl
  obtain ⟨hstart, hstop, hend⟩ := places field hlong
  rw [hcount] at hlength ⊢
  rw [written, List.append_assoc, hbody, List.append_assoc]
  refine ⟨rfl, idxOf?_opening hfield _, ?_, Nat.not_lt.mpr hlong, ?_, ?_, ?_, ?_⟩
  · rw [field_opening]
    exact hlength
  · rw [hstop, List.take_length_add_append, hblock, List.length_append,
      List.length_append]
    exact Nat.lt_irrefl _
  · rw [hstop, List.take_length_add_append, hblock]
    simp [opening]
  · rw [hend, hstop, List.take_length_add_append, hblock,
      List.drop_length_add_append]
    exact List.drop_left
  · rw [hend, hstop, hstart, List.take_length_add_append, hblock,
      List.take_length_add_append, List.drop_length_add_append, List.drop_zero,
      Bytes.idxOf?_eq_some_iff]
    exact ⟨name, value, by rw [hbody]; exact List.take_left, hname, rfl⟩

/-- Where the parts of a written frame lie. -/
def partsOf (field name value : Bytes) : Layout where
  space := field.length + 1
  separator := field.length + 1 + 2 + name.length
  stop := field.length + 1 + 2 + (name.length + value.length + overhead)

theorem name_written (field name value rest : Bytes) :
    (partsOf field name value).name (written field name value ++ rest) =
      name := by
  have hstart : field.length + 1 + 2 = (opening field).length + 0 := by simp
  have hend : field.length + 1 + 2 + name.length =
      (opening field).length + name.length := by simp
  rw [Layout.name, partsOf, written, hend, hstart, List.append_assoc,
    List.take_length_add_append, List.drop_length_add_append, List.drop_zero,
    List.append_assoc, List.append_assoc, List.take_left]

theorem value_written (field name value rest : Bytes) :
    (partsOf field name value).value (written field name value ++ rest) =
      value := by
  have hstart : field.length + 1 + 2 + name.length + 1 =
      (opening field).length + (name.length + 1) := by simp; omega
  have hend : field.length + 1 + 2 + (name.length + value.length + overhead) - 3 =
      (opening field).length + (name.length + (value.length + 1)) := by
    rw [overhead, length_opening]
    omega
  rw [Layout.value, partsOf, written, hend, hstart, List.append_assoc,
    List.take_length_add_append, List.drop_length_add_append,
    List.append_assoc, List.append_assoc, List.take_length_add_append,
    List.drop_length_add_append]
  simp

theorem length_written (field name value : Bytes) :
    (written field name value).length = (partsOf field name value).stop := by
  simp only [written, partsOf, overhead, List.length_append, length_opening,
    List.length_cons, Bytes.length_ofText]
  have htrailer : trailer.utf8ByteSize = 3 := rfl
  omega

theorem locate_written {field name value : Bytes} (offset : Nat) (rest : Bytes)
    (hlength : length? field = some (name.length + value.length + overhead))
    (hname : Bytes.ofChar ' ' ∉ name) :
    Layout.locate offset (written field name value ++ rest) =
      .ok (partsOf field name value) :=
  locate_eq_ok_iff_checked.mpr
    ⟨_, _, _, checked_written rest hlength hname, rfl⟩

/-- A frame is read where one was written, and nowhere else. -/
theorem read_eq_ok_iff {offset : Nat} {b : Bytes} {f : Frame} {stop : Nat} :
    read offset b = .ok (f, stop) ↔
      ∃ field rest, b = written field (Bytes.ofText f.name)
          (Bytes.ofText f.value) ++ rest ∧
        length? field = some f.declared ∧
        Bytes.ofChar ' ' ∉ Bytes.ofText f.name ∧
        stop = (written field (Bytes.ofText f.name)
          (Bytes.ofText f.value)).length := by
  constructor
  · intro h
    simp only [read, bind, Except.bind, pure, Except.pure, throw, throwThe,
      MonadExceptOf.throw] at h
    split at h
    · contradiction
    · next layout hlayout =>
        obtain ⟨space, length, gap, hchecked, rfl⟩ :=
          locate_eq_ok_iff_checked.mp hlayout
        obtain ⟨field, name, value, rest, rfl, hlength, rfl, hname, rfl, rfl⟩ :=
          hchecked.exists_written
        rw [← partsOf, name_written, value_written] at h
        repeat' split at h
        all_goals try contradiction
        next _ name' hname' _ value' hvalue' =>
          obtain ⟨rfl, rfl⟩ := Prod.mk.inj (Except.ok.inj h)
          obtain rfl := Bytes.eq_ofText_of_text? hname'
          obtain rfl := Bytes.eq_ofText_of_text? hvalue'
          exact ⟨field, rest, rfl, hlength, hname, (length_written ..).symm⟩
  · rintro ⟨field, rest, rfl, hlength, hname, rfl⟩
    have hlayout : Layout.locate offset (written field (Bytes.ofText f.name)
          (Bytes.ofText f.value) ++ rest) =
        .ok (partsOf field (Bytes.ofText f.name) (Bytes.ofText f.value)) :=
      locate_written offset rest hlength hname
    rw [read, length_written]
    simp only [bind, Except.bind, hlayout, name_written, value_written,
      Bytes.text?_ofText]
    rfl

/-! ## Frame by frame -/

@[simp]
theorem decodeFrom_nil (offset : Nat) : decodeFrom offset [] = .ok [] := by
  rw [decodeFrom, if_pos rfl]

theorem decodeFrom_of_read {offset : Nat} {b : Bytes} {f : Frame} {stop : Nat}
    (h : read offset b = .ok (f, stop)) :
    decodeFrom offset b =
      (f :: ·) <$> decodeFrom (offset + stop) (b.drop stop) := by
  have hne : b ≠ [] := by
    rintro rfl
    have hstop := stop_of_read h
    rw [List.length_nil] at hstop
    omega
  rw [decodeFrom, if_neg hne]
  split
  · next cause hcause =>
      rw [h] at hcause
      cases hcause
  · next f' stop' hf =>
      rw [h] at hf
      obtain ⟨rfl, rfl⟩ := Prod.mk.inj (Except.ok.inj hf)
      rfl

theorem decodeFrom_of_error {offset : Nat} {b : Bytes} {cause : FormatError}
    (hne : b ≠ []) (h : read offset b = .error cause) :
    decodeFrom offset b = .error cause := by
  rw [decodeFrom, if_neg hne]
  split
  · next cause' hcause =>
      rw [h] at hcause
      cases hcause
      rfl
  · next f stop hf =>
      rw [h] at hf
      cases hf

/-! ## Blocks -/

/-- A frame as it may be written, for a reader of numbers below 2^64. -/
structure Block where
  /-- The length field, which may have zeros in front. -/
  digits : List Char
  frame : Frame
  areDigits : ∀ c ∈ digits, c.isDigit = true
  value : Nat.ofDigitChars 10 digits 0 = frame.declared
  bounded : frame.declared < 2 ^ 64
  unspaced : ' ' ∉ frame.name.toList

namespace Block

def text (b : Block) : String :=
  "[" ++ String.ofList b.digits ++ " (" ++ b.frame.name ++ " " ++
    b.frame.value ++ ")\n]"

/-- Blocks, one after the other. -/
def write (blocks : List Block) : String :=
  String.join (blocks.map text)

theorem digits_ne_nil (b : Block) : b.digits ≠ [] := by
  intro hnil
  have hvalue := b.value
  rw [hnil, Nat.ofDigitChars_nil, Frame.declared, Frame.overhead] at hvalue
  omega

theorem length?_digits (b : Block) :
    Frame.length? (Bytes.ofText (String.ofList b.digits)) =
      some b.frame.declared :=
  Frame.length?_eq_some_iff.mpr
    ⟨b.digits, rfl, b.digits_ne_nil, b.areDigits, b.value, b.bounded⟩

theorem space_mem_ofText {s : String} :
    Bytes.ofChar ' ' ∈ Bytes.ofText s ↔ ' ' ∈ s.toList :=
  Bytes.ofChar_mem_ofText (by decide)

theorem ofText_text (b : Block) :
    Bytes.ofText b.text =
      Frame.written (Bytes.ofText (String.ofList b.digits))
        (Bytes.ofText b.frame.name) (Bytes.ofText b.frame.value) := by
  simp only [text, Bytes.ofText_append, Frame.written, Frame.opening,
    List.append_assoc, List.cons_append, List.nil_append]
  rfl

/-- A block is read as its frame, whatever comes behind it. -/
theorem read_text (b : Block) (offset : Nat) (rest : Bytes) :
    Frame.read offset (Bytes.ofText b.text ++ rest) =
      .ok (b.frame, (Bytes.ofText b.text).length) := by
  rw [ofText_text]
  exact Frame.read_eq_ok_iff.mpr ⟨_, rest, rfl, b.length?_digits,
    fun h => b.unspaced (space_mem_ofText.mp h), rfl⟩

/-- Where a frame is read, a block was written. -/
theorem exists_of_read {offset : Nat} {b : Bytes} {f : Frame} {stop : Nat}
    (h : Frame.read offset b = .ok (f, stop)) :
    ∃ block : Block, block.frame = f ∧
      b = Bytes.ofText block.text ++ b.drop stop := by
  obtain ⟨field, rest, rfl, hlength, hname, rfl⟩ := Frame.read_eq_ok_iff.mp h
  obtain ⟨digits, rfl, -, hdigits, hvalue, hlt⟩ :=
    Frame.length?_eq_some_iff.mp hlength
  rw [space_mem_ofText] at hname
  refine ⟨⟨digits, f, hdigits, hvalue, hlt, hname⟩, rfl, ?_⟩
  rw [List.drop_left, ofText_text]

@[simp]
theorem write_nil : write [] = "" :=
  rfl

@[simp]
theorem write_cons (b : Block) (blocks : List Block) :
    write (b :: blocks) = b.text ++ write blocks := by
  rw [write, List.map_cons, String.join_cons]
  rfl

/-- Blocks are read as their frames, and then what comes behind them is read. -/
theorem decodeFrom_write_append (blocks : List Block) (offset : Nat)
    (rest : Bytes) :
    Frame.decodeFrom offset (Bytes.ofText (write blocks) ++ rest) =
      (blocks.map frame ++ ·) <$>
        Frame.decodeFrom (offset + (Bytes.ofText (write blocks)).length) rest := by
  induction blocks generalizing offset with
  | nil => exact (id_map _).symm
  | cons b blocks ih =>
      rw [write_cons, Bytes.ofText_append, List.append_assoc,
        Frame.decodeFrom_of_read (b.read_text offset _), List.drop_left, ih,
        List.length_append, Nat.add_assoc, ← comp_map]
      rfl

theorem exists_of_decodeFrom {offset : Nat} {b : Bytes} {frames : List Frame}
    (h : Frame.decodeFrom offset b = .ok frames) :
    ∃ blocks, Bytes.ofText (write blocks) = b ∧ blocks.map frame = frames := by
  induction offset, b using Frame.decodeFrom.induct generalizing frames with
  | case1 offset =>
      rw [Frame.decodeFrom_nil] at h
      obtain rfl := Except.ok.inj h
      exact ⟨[], rfl, rfl⟩
  | case2 offset b hne cause hcause =>
      rw [Frame.decodeFrom_of_error hne hcause] at h
      cases h
  | case3 offset b hne f stop hread ih =>
      rw [Frame.decodeFrom_of_read hread] at h
      obtain ⟨block, hblock, hb⟩ := exists_of_read hread
      cases hrest : Frame.decodeFrom (offset + stop) (b.drop stop) with
      | error cause =>
          rw [hrest] at h
          cases h
      | ok rest =>
          rw [hrest] at h
          obtain rfl := Except.ok.inj h
          obtain ⟨blocks, hwrite, hframes⟩ := ih hrest
          refine ⟨block :: blocks, ?_, ?_⟩
          · rw [write_cons, Bytes.ofText_append, hwrite, ← hb]
          · rw [List.map_cons, hblock, hframes]

theorem decode_write (blocks : List Block) :
    Frame.decode (write blocks) = .ok (blocks.map frame) := by
  have h := decodeFrom_write_append blocks 0 []
  rw [List.append_nil] at h
  rw [Frame.decode, h, Frame.decodeFrom_nil]
  exact congrArg Except.ok (List.append_nil _)

theorem exists_of_decode {text : String} {frames : List Frame}
    (h : Frame.decode text = .ok frames) :
    ∃ blocks, write blocks = text ∧ blocks.map frame = frames := by
  obtain ⟨blocks, hwrite, hframes⟩ := exists_of_decodeFrom h
  exact ⟨blocks, Bytes.ofText_inj.mp hwrite, hframes⟩

/-! ## Zeros in front -/

/-- The block with no zeros in front of its length field. -/
def trimmed (b : Block) : Block :=
  { b with
    digits := Frame.trimZeros b.digits
    areDigits := fun c hc => b.areDigits c (Frame.mem_of_mem_trimZeros hc)
    value := (Frame.ofDigitChars_trimZeros b.digits).trans b.value }

/-- Frames are written with no zeros in front. -/
theorem text_frame (b : Block) : b.frame.text = b.trimmed.text := by
  have hdigits : Nat.toDigits 10 b.frame.declared =
      Frame.trimZeros b.digits := by
    have hpos : Nat.ofDigitChars 10 b.digits 0 ≠ 0 := by
      rw [b.value, Frame.declared, Frame.overhead]
      omega
    rw [← b.value, Frame.toDigits_ofDigitChars b.areDigits hpos]
  rw [Frame.text, Nat.repr_eq_ofList_toDigits, hdigits]
  rfl

theorem encode_frames (blocks : List Block) :
    Frame.encode (blocks.map frame) = write (blocks.map trimmed) := by
  rw [Frame.encode, write, List.map_map, List.map_map]
  refine congrArg String.join (List.map_congr_left fun b _ => b.text_frame)

theorem length_text (b : Block) :
    b.text.length = b.digits.length +
      (b.frame.name.length + b.frame.value.length + 7) := by
  have hopen : "[".length = 1 ∧ " (".length = 2 := ⟨rfl, rfl⟩
  have hclose : " ".length = 1 ∧ ")\n]".length = 3 := ⟨rfl, rfl⟩
  simp only [text, String.length_append, String.length_ofList]
  omega

theorem length_text_trimmed_le (b : Block) :
    b.trimmed.text.length ≤ b.text.length := by
  rw [length_text, length_text]
  exact Nat.add_le_add_right (length_trimZeros_le b.digits) _

theorem length_write_trimmed_le (blocks : List Block) :
    (write (blocks.map trimmed)).length ≤ (write blocks).length := by
  induction blocks with
  | nil => exact Nat.le_refl _
  | cons b blocks ih =>
      rw [List.map_cons, write_cons, write_cons, String.length_append,
        String.length_append]
      exact Nat.add_le_add b.length_text_trimmed_le ih

theorem text_trimmed_eq {b : Block} (h : b.digits.head? ≠ some '0') :
    b.trimmed.text = b.text := by
  simp only [text, trimmed, trimZeros_eq_self_iff.mpr h]

/-- Without zeros a text gets shorter, unless there were none. -/
theorem write_trimmed_eq_iff {blocks : List Block} :
    write (blocks.map trimmed) = write blocks ↔
      ∀ b ∈ blocks, b.digits.head? ≠ some '0' := by
  induction blocks with
  | nil => simp
  | cons b blocks ih =>
      rw [List.map_cons, write_cons, write_cons, List.forall_mem_cons, ← ih]
      constructor
      · intro h
        have hlength := congrArg String.length h
        have hrest := length_write_trimmed_le blocks
        have htext := b.length_text_trimmed_le
        simp only [String.length_append] at hlength
        have hdigits : (trimZeros b.digits).length = b.digits.length := by
          have hsame : b.trimmed.text.length = b.text.length := by omega
          rw [length_text, length_text] at hsame
          exact Nat.add_right_cancel hsame
        have hhead := length_trimZeros_eq_iff.mp hdigits
        rw [text_trimmed_eq hhead, String.append_right_inj] at h
        exact ⟨hhead, h⟩
      · rintro ⟨hhead, h⟩
        rw [text_trimmed_eq hhead, h]

end Block

/-- A text is read if and only if it is a sequence of blocks, and what is read
are their frames. To write these again is to write the blocks without zeros in
front, so it gives the text back exactly if there were none. -/
theorem decode_eq_ok_iff (text : String) (frames : List Frame) :
    (decode text = .ok frames ↔
      ∃ blocks, Block.write blocks = text ∧ blocks.map Block.frame = frames) ∧
    ∀ blocks : List Block,
      encode (blocks.map Block.frame) =
        Block.write (blocks.map Block.trimmed) ∧
      (encode (blocks.map Block.frame) = Block.write blocks ↔
        ∀ b ∈ blocks, b.digits.head? ≠ some '0') := by
  refine ⟨⟨Block.exists_of_decode, ?_⟩, fun blocks => ?_⟩
  · rintro ⟨blocks, rfl, rfl⟩
    exact Block.decode_write blocks
  · rw [Block.encode_frames]
    exact ⟨rfl, Block.write_trimmed_eq_iff⟩

end Frame

end Courier
