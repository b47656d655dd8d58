/-!
# Bytes

Payloads are lists of bytes, because that is what they are to a transport: a piece of a message
may end in the middle of a character. Text enters and leaves as UTF-8.
-/

namespace Courier

abbrev Bytes := List UInt8

def Bytes.ofText (s : String) : Bytes :=
  s.toByteArray.data.toList

/-- The text whose UTF-8 form the bytes are, if there is one. -/
def Bytes.text? (b : Bytes) : Option String :=
  String.fromUTF8? ⟨b.toArray⟩

def Bytes.ofChar (c : Char) : UInt8 :=
  c.toNat.toUInt8

@[simp]
theorem Bytes.length_ofText (s : String) : (Bytes.ofText s).length = s.utf8ByteSize :=
  rfl

@[simp]
theorem Bytes.ofText_append (s t : String) :
    Bytes.ofText (s ++ t) = Bytes.ofText s ++ Bytes.ofText t := by
  simp [Bytes.ofText]

@[simp]
theorem Bytes.text?_ofText (s : String) : (Bytes.ofText s).text? = some s := by
  simp only [Bytes.text?, Bytes.ofText, String.fromUTF8?]
  exact dif_pos s.isValidUTF8

theorem Bytes.eq_ofText_of_text? {b : Bytes} {s : String} (h : b.text? = some s) :
    b = Bytes.ofText s := by
  simp only [Bytes.text?, String.fromUTF8?] at h
  split at h
  · cases h
    rfl
  · cases h

end Courier
