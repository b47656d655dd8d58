import Courier.Text.Hex

/-!
# Message-kind flags

Sixteen bits travel beside every payload. Four of them have names; unknown bits are kept. In text
form flags are their names in the order of the bits, joined by bars, and the unknown rest as one
hexadecimal number.
-/

namespace Courier

structure Flags where
  bits : UInt16
  deriving DecidableEq, Repr

namespace Flags

def empty : Flags := ⟨0⟩

def normal : Flags := ⟨1⟩

def multi : Flags := ⟨2⟩

def multiStart : Flags := ⟨4⟩

/-- The last piece of a message in several payloads, beside `multi`. -/
def multiEnd : Flags := ⟨8⟩

def named : List (String × Flags) :=
  [("NORMAL", normal), ("MULTI", multi), ("MULTI_START", multiStart), ("MULTI_END", multiEnd)]

def contains (f g : Flags) : Bool :=
  f.bits &&& g.bits = g.bits

def union (f g : Flags) : Flags :=
  ⟨f.bits ||| g.bits⟩

def all : Flags :=
  named.foldl (fun f p => f.union p.2) empty

def known (f : Flags) : Flags :=
  ⟨f.bits &&& all.bits⟩

def unknown (f : Flags) : Flags :=
  ⟨f.bits &&& ~~~all.bits⟩

/-- The words of the text form: names first, then the unknown bits as a number. -/
def words (f : Flags) : List String :=
  (named.filter fun p => f.contains p.2).map Prod.fst ++
    if f.unknown = empty then [] else ["0x" ++ String.ofList (Text.hexDigits f.unknown.bits.toNat)]

def text (f : Flags) : String :=
  " | ".intercalate f.words

end Flags

end Courier
