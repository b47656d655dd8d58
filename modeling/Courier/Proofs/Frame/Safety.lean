import Courier.Proofs.Frame.Parts

/-!
# The reader of frames keeps inside its bytes

`take` and `drop` answer for any place, so the reader does not show by itself
that the places it computes from a declared length lie inside the text. The
reader of this module does the same over operations that may go wrong: a byte
or a part that lies outside, a difference below zero, a sum that does not fit
in 64 bits. It also counts its rounds, and it has nothing to show for a length
field that is no text. Where something of this happens it stops with a lapse.

There are no lapses (`Guarded.decode_eq`). A declared length is never followed
before it has been held against the text, the first space comes behind the
bracket, and all cuts are next to marks. The one sum that can go wrong is that
of a declared length and the two marks in front of what it counts, and only
for the last two numbers of 64 bits.
-/

namespace Courier

namespace Frame

/-- What must not happen to a reader that finds bytes by their places. -/
inductive Lapse where
  | byteOutside
  | partOutside
  | belowZero
  | beyondWord
  /-- A length field is to be shown, and is no text. -/
  | fieldNotText
  | tooManyRounds
  deriving DecidableEq, Repr

/-- What may be refused, and may also lapse. -/
abbrev Guarded (α : Type) := ExceptT FormatError (Except Lapse) α

namespace Guarded

variable {α : Type}

def lapse (l : Lapse) : Guarded α :=
  ExceptT.mk (.error l)

def byte (b : Bytes) (place : Nat) : Guarded UInt8 :=
  match b[place]? with
  | some x => return x
  | none => lapse .byteOutside

def part (b : Bytes) (start stop : Nat) : Guarded Bytes :=
  if start ≤ stop ∧ stop ≤ b.length then
    return (b.take stop).drop start
  else
    lapse .partOutside

def difference (m n : Nat) : Guarded Nat :=
  if n ≤ m then return m - n else lapse .belowZero

def sum (m n : Nat) : Guarded Nat :=
  if m + n < UInt64.size then return m + n else lapse .beyondWord

/-- The marks behind the length field, and the layout that they show. -/
def marks (offset : Nat) (b : Bytes) (space stop : Nat) : Guarded Layout := do
  unless (← byte b (space + 1)) = Bytes.ofChar '(' do
    throw (.malformed offset .noParenthesis)
  let valueStop ← difference stop 3
  unless (← part b valueStop stop) = Bytes.ofText trailer do
    throw (.malformed offset .noTrailer)
  let some gap := (← part b (space + 2) valueStop).idxOf? (Bytes.ofChar ' ')
    | throw (.malformed offset .noSeparator)
  return { space, separator := space + 2 + gap, stop }

-- A stop that does not fit in 64 bits lies behind every text, so only the first
-- sum is guarded.
def locate (offset : Nat) (b : Bytes) : Guarded Layout := do
  unless (← byte b 0) = Bytes.ofChar '[' do
    throw (.malformed offset .noBracket)
  let some space := b.idxOf? (Bytes.ofChar ' ')
    | throw (.malformed offset .noDelimiter)
  let field ← part b 1 space
  let some length := length? field
    | match field.text? with
      | some field => throw (.badLength offset field)
      | none => lapse .fieldNotText
  if length < overhead then
    throw (.malformed offset .tooShort)
  let stop := space + (← sum 2 length)
  if b.length < stop then
    throw (.malformed offset .tooLong)
  marks offset b space stop

def read (offset : Nat) (b : Bytes) : Guarded (Frame × Nat) := do
  let l ← locate offset b
  let name ← part b (l.space + 2) l.separator
  let some name := name.text? | throw .notText
  let value ← part b (l.separator + 1) (← difference l.stop 3)
  let some value := value.text? | throw .notText
  return ({ name, value }, l.stop)

/-- Reads the frames from byte `offset` on, in so many rounds at most. -/
def decodeFrom (b : Bytes) : (rounds offset : Nat) → Guarded (List Frame)
  | 0, offset => if offset < b.length then lapse .tooManyRounds else return []
  | rounds + 1, offset =>
    if offset < b.length then do
      let rest ← part b offset b.length
      let (f, consumed) ← read offset rest
      let frames ← decodeFrom b rounds (offset + consumed)
      return f :: frames
    else
      return []

/-- A frame takes eight bytes, so there is a round for every eight bytes that
have been begun. -/
def decode (text : String) : Guarded (List Frame) :=
  decodeFrom (Bytes.ofText text) ((text.utf8ByteSize + 7) / 8) 0

theorem mk_ok (a : α) :
    (ExceptT.mk (.ok (.ok a)) : Guarded α) = pure a :=
  rfl

theorem byte_eq {b : Bytes} {place : Nat} {x : UInt8}
    (h : b[place]? = some x) : byte b place = pure x := by
  rw [byte, h]

theorem part_eq {b : Bytes} {start stop : Nat} (hstart : start ≤ stop)
    (hstop : stop ≤ b.length) :
    part b start stop = pure ((b.take stop).drop start) :=
  if_pos ⟨hstart, hstop⟩

theorem difference_eq {m n : Nat} (h : n ≤ m) :
    difference m n = pure (m - n) :=
  if_pos h

theorem sum_eq {m n : Nat} (h : m + n < UInt64.size) :
    sum m n = pure (m + n) :=
  if_pos h

end Guarded

/-- What remains to be checked of a frame that fits into the text. -/
def Layout.marks (offset : Nat) (b : Bytes) (space stop : Nat) :
    Except FormatError Layout := do
  let block := b.take stop
  unless block[space + 1]? = some (Bytes.ofChar '(') do
    throw (.malformed offset .noParenthesis)
  unless block.drop (stop - 3) = Bytes.ofText trailer do
    throw (.malformed offset .noTrailer)
  let some gap :=
      ((block.take (stop - 3)).drop (space + 2)).idxOf? (Bytes.ofChar ' ')
    | throw (.malformed offset .noSeparator)
  return { space, separator := space + 2 + gap, stop }

/-- The declared length of a frame that begins with a bracket. -/
def declared? (b : Bytes) : Option Nat :=
  if b.head? = some (Bytes.ofChar '[') then
    (b.idxOf? (Bytes.ofChar ' ')).bind fun space =>
      length? (Layout.field space b)
  else
    none

variable {offset : Nat} {b : Bytes}

theorem lt_of_declared? {n : Nat} (h : declared? b = some n) : n < 2 ^ 64 := by
  rw [declared?] at h
  split at h
  case isFalse => cases h
  obtain ⟨space, -, hlength⟩ := Option.bind_eq_some_iff.mp h
  obtain ⟨digits, -, -, -, -, hlt⟩ := length?_eq_some_iff.mp hlength
  exact hlt

/-- A text that begins with a bracket has its first space behind it. -/
theorem place_of_space {space : Nat}
    (hbracket : b.head? = some (Bytes.ofChar '['))
    (hspace : b.idxOf? (Bytes.ofChar ' ') = some space) :
    1 ≤ space ∧ space < b.length := by
  obtain ⟨before, after, rfl, -, rfl⟩ := Bytes.idxOf?_eq_some_iff.mp hspace
  cases before with
  | nil => cases hbracket
  | cons x field => simp

/-- Behind the length, once it has been held against the text, there is nothing
that could go wrong. -/
theorem Guarded.marks_eq {space length : Nat} (hlength : overhead ≤ length)
    (hstop : space + 2 + length ≤ b.length) :
    Guarded.marks offset b space (space + 2 + length) =
      ExceptT.mk (.ok (Layout.marks offset b space (space + 2 + length))) := by
  have hlen : 4 ≤ length := hlength
  obtain ⟨y, hy⟩ : ∃ y, b[space + 1]? = some y :=
    ⟨_, List.getElem?_eq_getElem (by omega)⟩
  have hblock : (b.take (space + 2 + length))[space + 1]? = some y := by
    rw [List.getElem?_take_of_lt (by omega), hy]
  rw [Guarded.marks, Layout.marks, Guarded.byte_eq hy, pure_bind, hblock]
  by_cases hparen : y = Bytes.ofChar '('
  case neg =>
    simp only [hparen, Option.some.injEq, if_false]
    rfl
  simp only [hparen, if_true]
  rw [Guarded.difference_eq (by omega), pure_bind,
    Guarded.part_eq (by omega) hstop, pure_bind, List.take_take,
    Nat.min_eq_left (by omega)]
  by_cases htrailer : (b.take (space + 2 + length)).drop
      (space + 2 + length - 3) = Bytes.ofText trailer
  case neg =>
    simp only [htrailer, if_false]
    rfl
  simp only [htrailer, if_true]
  rw [Guarded.part_eq (by omega) (by omega), pure_bind]
  cases ((b.take (space + 2 + length - 3)).drop (space + 2)).idxOf?
    (Bytes.ofChar ' ') <;> rfl

theorem Guarded.locate_eq (hne : b ≠ []) (htext : b.IsText)
    (hsum : ∀ n, declared? b = some n → 2 + n < UInt64.size) :
    Guarded.locate offset b = ExceptT.mk (.ok (Layout.locate offset b)) := by
  obtain ⟨x, tail, rfl⟩ := List.exists_cons_of_ne_nil hne
  rw [Guarded.locate, Layout.locate, Guarded.byte_eq (x := x) rfl, pure_bind]
  by_cases hx : x = Bytes.ofChar '['
  case neg =>
    have hhead : ¬ (x :: tail).head? = some (Bytes.ofChar '[') := by
      simpa using hx
    simp only [hx, hhead, if_false]
    rfl
  subst hx
  generalize hb : Bytes.ofChar '[' :: tail = b at *
  have hhead : b.head? = some (Bytes.ofChar '[') := by rw [← hb]; rfl
  simp only [hhead, if_true]
  cases hspace : b.idxOf? (Bytes.ofChar ' ') with
  | none => rfl
  | some space =>
      have hplace := place_of_space hhead hspace
      simp only
      rw [Guarded.part_eq hplace.1 (by omega), pure_bind, ← Layout.field]
      cases hlength : length? (Layout.field space b) with
      | none =>
          cases hfield : (Layout.field space b).text? with
          | none =>
              exact absurd hfield
                (isText_field htext hhead hspace).text?_ne_none
          | some field => rfl
      | some length =>
          have hdeclared : declared? b = some length := by
            rw [declared?, if_pos hhead, hspace, Option.bind_some, hlength]
          simp only
          by_cases hshort : length < overhead
          · simp only [hshort, if_true]
            rfl
          rw [if_neg hshort, if_neg hshort, Guarded.sum_eq (hsum _ hdeclared),
            pure_bind, ← Nat.add_assoc]
          have hlong : (b.take (space + 2 + length)).length <
              space + 2 + length ↔ b.length < space + 2 + length := by
            rw [List.length_take]
            omega
          by_cases hstop : b.length < space + 2 + length
          · simp only [hlong, hstop, if_true]
            rfl
          simp only [hlong, hstop, if_false]
          exact Guarded.marks_eq (Nat.not_lt.mp hshort) (Nat.not_lt.mp hstop)

/-- The parts of a frame lie one behind the other, in at least eight bytes. -/
theorem Layout.order_of_locate {l : Layout} (h : locate offset b = .ok l) :
    8 ≤ l.stop ∧ l.space + 2 ≤ l.separator ∧ l.separator + 1 ≤ l.stop - 3 ∧
      l.stop ≤ b.length := by
  obtain ⟨space, length, gap, hchecked, rfl⟩ := locate_eq_ok_iff_checked.mp h
  have hlong : 4 ≤ length := Nat.not_lt.mp hchecked.long
  have hfits := hchecked.fits
  have hfield : field space b ≠ [] := fun hnil => by
    have hlength := hchecked.declared
    rw [hnil] at hlength
    cases hlength
  have hspace := List.length_pos_of_ne_nil hfield
  obtain ⟨before, after, hblock, -, hgap⟩ :=
    Bytes.idxOf?_eq_some_iff.mp hchecked.separator
  have hwhole := congrArg List.length hblock
  simp only [field, List.length_drop, List.length_take, List.length_append,
    List.length_cons] at hfits hspace hwhole
  refine ⟨?_, ?_, ?_, ?_⟩ <;> simp only <;> omega

theorem Guarded.read_eq (hne : b ≠ []) (htext : b.IsText)
    (hsum : ∀ n, declared? b = some n → 2 + n < UInt64.size) :
    Guarded.read offset b = ExceptT.mk (.ok (Frame.read offset b)) := by
  rw [Guarded.read, Frame.read, Guarded.locate_eq hne htext hsum]
  cases hlocate : Layout.locate offset b with
  | error e => rfl
  | ok l =>
      obtain ⟨hlong, hname, hvalue, hstop⟩ := Layout.order_of_locate hlocate
      have hl : (.ok l : Except FormatError Layout) = pure l := rfl
      rw [Guarded.mk_ok, pure_bind, hl, pure_bind,
        Guarded.part_eq hname (by omega), pure_bind,
        Guarded.difference_eq (by omega), ← Layout.name]
      cases (l.name b).text? with
      | none => rfl
      | some name =>
          simp only
          rw [pure_bind, Guarded.part_eq hvalue (by omega), pure_bind,
            ← Layout.value]
          cases (l.value b).text? <;> rfl

theorem eight_le_of_read {f : Frame} {stop : Nat}
    (h : Frame.read offset b = .ok (f, stop)) : 8 ≤ stop := by
  obtain ⟨field, rest, -, hlength, -, rfl⟩ := read_eq_ok_iff.mp h
  have hfield : field ≠ [] := fun hnil => by
    rw [hnil] at hlength
    cases hlength
  have hpos := List.length_pos_of_ne_nil hfield
  simp only [length_written, partsOf, overhead]
  omega

theorem length_le_of_decodeFrom {frames : List Frame}
    (h : Frame.decodeFrom offset b = .ok frames) :
    8 * frames.length ≤ b.length := by
  induction offset, b using Frame.decodeFrom.induct generalizing frames with
  | case1 offset =>
      rw [Frame.decodeFrom_nil] at h
      obtain rfl := Except.ok.inj h
      exact le_rfl
  | case2 offset b hne cause hread =>
      rw [decodeFrom_of_error hne hread] at h
      cases h
  | case3 offset b hne f stop hread ih =>
      rw [decodeFrom_of_read hread] at h
      cases hrest : Frame.decodeFrom (offset + stop) (b.drop stop) with
      | error cause =>
          rw [hrest] at h
          cases h
      | ok rest =>
          rw [hrest] at h
          obtain rfl := Except.ok.inj h
          have hlength := ih hrest
          have hmin := eight_le_of_read hread
          have hstop := (stop_of_read hread).2
          rw [List.length_drop] at hlength
          rw [List.length_cons]
          omega

/-! ## Where frames begin -/

/-- A frame of `b` is begun at the place. -/
inductive Begins (b : Bytes) : Nat → Prop where
  | first : b ≠ [] → Begins b 0
  | next {offset stop : Nat} {f : Frame} :
      Begins b offset → read offset (b.drop offset) = .ok (f, stop) →
      offset + stop < b.length → Begins b (offset + stop)

/-- Frames begin between characters. -/
theorem Begins.split {text : String} (h : Begins (Bytes.ofText text) offset) :
    offset < (Bytes.ofText text).length ∧
      ∃ front back, text = front ++ back ∧ front.utf8ByteSize = offset ∧
        (Bytes.ofText text).drop offset = Bytes.ofText back := by
  induction h with
  | first hne =>
      exact ⟨List.length_pos_of_ne_nil hne, "", text,
        String.empty_append.symm, rfl, rfl⟩
  | @next offset stop f _ hread hstop ih =>
      obtain ⟨-, front, back, htext, hfront, hback⟩ := ih
      rw [hback] at hread
      obtain ⟨block, -, hblock⟩ := Block.exists_of_read hread
      obtain ⟨rest, rfl, hrest⟩ := Bytes.exists_of_ofText_eq_append hblock
      refine ⟨hstop, front ++ block.text, rest, ?_, ?_, ?_⟩
      · rw [htext, String.append_assoc]
      · rw [String.utf8ByteSize_append, hfront, Nat.add_left_cancel_iff]
        have hlength := congrArg List.length hblock
        have hle := (stop_of_read hread).2
        rw [List.length_append, List.length_drop,
          Bytes.length_ofText block.text] at hlength
        omega
      · rw [← List.drop_drop, hback, hrest]

section

-- No sum goes wrong where a frame begins.
variable {text : String}
  (hsum : ∀ offset, Begins (Bytes.ofText text) offset →
    ∀ n, declared? ((Bytes.ofText text).drop offset) = some n →
      2 + n < UInt64.size)

include hsum

theorem Guarded.decodeFrom_eq {rounds : Nat}
    (hbegins : offset < (Bytes.ofText text).length →
      Begins (Bytes.ofText text) offset)
    (hrounds : (Bytes.ofText text).length ≤ offset + 8 * rounds) :
    Guarded.decodeFrom (Bytes.ofText text) rounds offset =
      ExceptT.mk
        (.ok (Frame.decodeFrom offset ((Bytes.ofText text).drop offset))) := by
  induction rounds generalizing offset with
  | zero =>
      rw [Guarded.decodeFrom, if_neg (by omega),
        List.drop_of_length_le (by omega), Frame.decodeFrom_nil]
      rfl
  | succ rounds ih =>
      rw [Guarded.decodeFrom]
      by_cases hoffset : offset < (Bytes.ofText text).length
      case neg =>
        rw [if_neg hoffset, List.drop_of_length_le (by omega),
          Frame.decodeFrom_nil]
        rfl
      obtain ⟨-, front, back, -, -, hback⟩ := (hbegins hoffset).split
      have hne : (Bytes.ofText text).drop offset ≠ [] := by
        rw [Ne, List.drop_eq_nil_iff]
        omega
      rw [if_pos hoffset, Guarded.part_eq hoffset.le le_rfl, pure_bind,
        List.take_length,
        Guarded.read_eq hne ⟨back, hback.symm⟩ (hsum _ (hbegins hoffset))]
      cases hread : Frame.read offset ((Bytes.ofText text).drop offset) with
      | error e =>
          rw [decodeFrom_of_error hne hread]
          rfl
      | ok found =>
          obtain ⟨f, stop⟩ := found
          have hstop := eight_le_of_read hread
          rw [Guarded.mk_ok, pure_bind, decodeFrom_of_read hread,
            List.drop_drop]
          simp only
          rw [ih (fun h => (hbegins hoffset).next hread h) (by omega)]
          cases Frame.decodeFrom (offset + stop)
            ((Bytes.ofText text).drop (offset + stop)) <;> rfl

theorem Guarded.decode_eq :
    Guarded.decode text = ExceptT.mk (.ok (Frame.decode text)) := by
  rw [Guarded.decode, Guarded.decodeFrom_eq hsum _ _, List.drop_zero]
  · rfl
  · intro hpos
    exact .first (List.ne_nil_of_length_pos hpos)
  · rw [Bytes.length_ofText]
    omega

end

/-- A text in which no frame declares one of the last two lengths of 64 bits is
read without a lapse. A frame takes eight bytes at least, every frame begins
between characters, and what is refused is always a frame. -/
theorem decode_keeps_inside (text : String)
    (h : ∀ offset, Begins (Bytes.ofText text) offset →
      ∀ n, declared? ((Bytes.ofText text).drop offset) = some n →
        n ≠ 2 ^ 64 - 2 ∧ n ≠ 2 ^ 64 - 1) :
    Guarded.decode text = ExceptT.mk (.ok (decode text)) ∧
      (∀ frames, decode text = .ok frames →
        frames.length ≤ text.utf8ByteSize / 8) ∧
      (∀ e, decode text = .error e → ∃ offset,
        (∃ flaw, e = .malformed offset flaw) ∨
        ∃ field, e = .badLength offset field) ∧
      ∀ offset, Begins (Bytes.ofText text) offset →
        (∃ front back, text = front ++ back ∧ front.utf8ByteSize = offset) ∧
        ∀ f stop, read offset ((Bytes.ofText text).drop offset) =
          .ok (f, stop) → 8 ≤ stop := by
  refine ⟨Guarded.decode_eq fun offset hbegins n hn => ?_,
    fun frames hframes => ?_, fun e he => ?_,
    fun offset hbegins => ⟨?_, fun f stop => eight_le_of_read⟩⟩
  · have hlt := lt_of_declared? hn
    have hlast := h offset hbegins n hn
    rw [UInt64.size]
    omega
  · have hlength := length_le_of_decodeFrom hframes
    rw [Bytes.length_ofText] at hlength
    omega
  · obtain ⟨front, back, -, hoffset, -⟩ := exists_longest_of_decode he
    cases e with
    | malformed offset flaw => exact ⟨offset, .inl ⟨flaw, rfl⟩⟩
    | badLength offset field => exact ⟨offset, .inr ⟨field, rfl⟩⟩
    | noTab => cases hoffset
    | notText => cases hoffset
    | badTopic topic => cases hoffset
  · obtain ⟨-, front, back, htext, hfront, -⟩ := hbegins.split
    exact ⟨front, back, htext, hfront⟩

/-- A frame of letters that take two bytes, and behind it no frame. -/
theorem decode_keeps_inside_umlauts :
    Guarded.decode "[8 (ü é)\n][x y" =
        ExceptT.mk (.ok (decode "[8 (ü é)\n][x y")) ∧
      decode "[8 (ü é)\n][x y" = .error (.badLength 12 "x") := by
  have hfirst : read 0 (Bytes.ofText "[8 (ü é)\n][x y") =
      .ok (⟨"ü", "é"⟩, 12) := by decide +kernel
  have hsecond : read 12 ((Bytes.ofText "[8 (ü é)\n][x y").drop 12) =
      .error (.badLength 12 "x") := by decide +kernel
  have hplace : ∀ offset, Begins (Bytes.ofText "[8 (ü é)\n][x y") offset →
      offset = 0 ∨ offset = 12 := by
    intro offset hbegins
    induction hbegins with
    | first => exact .inl rfl
    | next _ hread _ ih =>
        obtain rfl | rfl := ih
        · rw [List.drop_zero, hfirst] at hread
          cases hread
          exact .inr rfl
        · rw [hsecond] at hread
          cases hread
  refine ⟨(decode_keeps_inside _ fun offset hbegins n hn => ?_).1,
    by decide +kernel⟩
  obtain rfl | rfl := hplace offset hbegins
  · have hdeclared : declared? (Bytes.ofText "[8 (ü é)\n][x y") = some 8 := by
      decide +kernel
    rw [List.drop_zero, hdeclared] at hn
    cases hn
    decide
  · have hdeclared :
        declared? ((Bytes.ofText "[8 (ü é)\n][x y").drop 12) = none := by
      decide +kernel
    rw [hdeclared] at hn
    cases hn

-- The sum of this length and two does not fit.
example : (Guarded.decode "[18446744073709551614 (a b)\n]").run =
    .error .beyondWord := by
  decide +kernel

end Frame

end Courier
