import Courier.Bytes

/-!
# Frames

A text made of frames carries named values. Each frame says how long it is, so a value may hold
anything, brackets and line ends included: `[11 (name val)` and, on the next line, `]`. The number
counts the bytes of name and value, the space between them and the three bytes that close the
frame.

`Frame.size` computes how long a frame is without writing it.
-/

namespace Courier

structure Frame where
  name : String
  value : String
  deriving DecidableEq, Repr

namespace Frame

/-- What the length field counts beyond the bytes of name and value. -/
def overhead : Nat := 4

def trailer : String := ")\n]"

def declared (f : Frame) : Nat :=
  f.name.utf8ByteSize + f.value.utf8ByteSize + overhead

def text (f : Frame) : String :=
  "[" ++ f.declared.repr ++ " (" ++ f.name ++ " " ++ f.value ++ trailer

def digitCount (n : Nat) : Nat :=
  if n < 10 then 1 else digitCount (n / 10) + 1
  termination_by n

def size (f : Frame) : Nat :=
  1 + digitCount f.declared + 2 + f.name.utf8ByteSize + 1 + f.value.utf8ByteSize + 3

/-- The written form of some frames: one after the other, with nothing between them. -/
def encode (frames : List Frame) : String :=
  String.join (frames.map text)

end Frame

end Courier
