import Courier.Bytes
import Courier.FormatError

/-!
# Messages

A message is a topic and a text. Its payload is the topic, a tab and the text, so a payload is
split at its first tab and a topic that holds a tab does not survive the trip.
-/

namespace Courier

structure Message where
  topic : String
  text : String
  deriving DecidableEq, Repr

namespace Message

def tab : UInt8 := Bytes.ofChar '\t'

def size (m : Message) : Nat :=
  m.topic.utf8ByteSize + 1 + m.text.utf8ByteSize

def payload (m : Message) : Bytes :=
  Bytes.ofText m.topic ++ tab :: Bytes.ofText m.text

@[simp]
theorem length_payload (m : Message) : m.payload.length = m.size := by
  simp [payload, size]
  omega

def split (payload : Bytes) : Except FormatError (Bytes × Bytes) :=
  match payload.idxOf? tab with
  | some i => .ok (payload.take i, payload.drop (i + 1))
  | none => .error .noTab

def readText (b : Bytes) : Except FormatError String :=
  match b.text? with
  | some s => .ok s
  | none => .error .notText

def ofPayload (payload : Bytes) : Except FormatError Message := do
  let (topic, text) ← split payload
  return { topic := ← readText topic, text := ← readText text }

/-- A topic that can be told from the text again: not empty, and without a tab. -/
def checkTopic (topic : String) : Except FormatError Unit :=
  if topic = "" ∨ '\t' ∈ topic.toList then .error (.badTopic topic) else .ok ()

end Message

end Courier
