import Courier.Frame.Basic
import Courier.FormatError

/-!
# Reading frames

A frame is read in two steps. `Layout.locate` finds where its parts lie and checks its marks;
the parts are then cut out and read as text. Every position that a layout holds lies inside the
bytes that were searched, and a frame takes at least eight bytes, so reading ends.
-/

namespace Courier

namespace Frame

/-- The value of a length field: one or more ASCII digits, as a number below 2^64. -/
def length? (field : Bytes) : Option Nat :=
  if field ≠ [] ∧ field.all (fun b => 48 ≤ b && b ≤ 57) then
    let n := field.foldl (fun n b => 10 * n + (b.toNat - 48)) 0
    if n < UInt64.size then some n else none
  else
    none

/-- Where the parts of a frame lie, in bytes from its bracket. -/
structure Layout where
  space : Nat
  separator : Nat
  stop : Nat
  deriving DecidableEq, Repr

namespace Layout

def field (space : Nat) (b : Bytes) : Bytes :=
  (b.take space).drop 1

def name (l : Layout) (b : Bytes) : Bytes :=
  (b.take l.separator).drop (l.space + 2)

def value (l : Layout) (b : Bytes) : Bytes :=
  (b.take (l.stop - 3)).drop (l.separator + 1)

/-- Finds the parts of the frame at the start of `b`, which is the rest of a text from byte
`offset` on. The checks are made from left to right, except that the declared length is held
against the text before the mark behind the length field is looked at. -/
def locate (offset : Nat) (b : Bytes) : Except FormatError Layout := do
  unless b.head? = some (Bytes.ofChar '[') do
    throw (.malformed offset .noBracket)
  let some space := b.idxOf? (Bytes.ofChar ' ')
    | throw (.malformed offset .noDelimiter)
  let some length := length? (field space b)
    | match (field space b).text? with
      | some field => throw (.badLength offset field)
      | none => throw .notText
  if length < overhead then
    throw (.malformed offset .tooShort)
  let stop := space + 2 + length
  let block := b.take stop
  if block.length < stop then
    throw (.malformed offset .tooLong)
  unless block[space + 1]? = some (Bytes.ofChar '(') do
    throw (.malformed offset .noParenthesis)
  unless block.drop (stop - 3) = Bytes.ofText trailer do
    throw (.malformed offset .noTrailer)
  let some gap := ((block.take (stop - 3)).drop (space + 2)).idxOf? (Bytes.ofChar ' ')
    | throw (.malformed offset .noSeparator)
  return { space, separator := space + 2 + gap, stop }

end Layout

def read (offset : Nat) (b : Bytes) : Except FormatError (Frame × Nat) := do
  let layout ← Layout.locate offset b
  let some name := (layout.name b).text? | throw .notText
  let some value := (layout.value b).text? | throw .notText
  return ({ name, value }, layout.stop)

theorem Layout.stop_of_locate {offset : Nat} {b : Bytes} {l : Layout}
    (h : locate offset b = .ok l) : 0 < l.stop ∧ l.stop ≤ b.length := by
  simp only [locate, bind, Except.bind, pure, Except.pure, throw, throwThe, MonadExceptOf.throw] at h
  repeat' split at h
  all_goals try contradiction
  next long _ _ _ _ _ =>
    cases h
    simp only [List.length_take, Nat.not_lt] at long
    exact ⟨by simp only; omega, by simp only; omega⟩

theorem stop_of_read {offset : Nat} {b : Bytes} {f : Frame} {stop : Nat}
    (h : read offset b = .ok (f, stop)) : 0 < stop ∧ stop ≤ b.length := by
  simp only [read, bind, Except.bind, pure, Except.pure, throw, throwThe,
    MonadExceptOf.throw] at h
  split at h
  · contradiction
  · next layout located =>
    repeat' split at h
    all_goals try contradiction
    cases h
    exact Layout.stop_of_locate located

/-- Reads the frames of `b`, which is the rest of a text from byte `offset` on. -/
def decodeFrom (offset : Nat) (b : Bytes) : Except FormatError (List Frame) :=
  if b = [] then
    .ok []
  else
    match _h : read offset b with
    | .error e => .error e
    | .ok (f, stop) => (f :: ·) <$> decodeFrom (offset + stop) (b.drop stop)
  termination_by b.length
  decreasing_by
    have := stop_of_read ‹_›
    simp only [List.length_drop]
    omega

def decode (text : String) : Except FormatError (List Frame) :=
  decodeFrom 0 (Bytes.ofText text)

end Frame

end Courier
