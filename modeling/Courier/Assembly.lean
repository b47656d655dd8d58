import Std.Data.ExtTreeMap
import Courier.Message
import Courier.Piece

/-!
# Putting messages together

A message may come in several pieces. The pieces of one sender come in order, so there is at most
one open message per sender, and it grows by appending. Its text stays bytes until the last piece
is in, since a cut may fall into the middle of a character. Complete messages pass through
without touching what is open.
-/

namespace Courier

structure Arrival where
  sender : String
  piece : Piece
  payload : Bytes
  deriving DecidableEq, Repr

/-- A message of which the last piece is missing. -/
structure Assembly where
  topic : String
  text : Bytes
  deriving DecidableEq, Repr

inductive AssemblyError where
  | orphan (sender : String)
  /-- The piece opens a message while another was open, of which `discarded` bytes are lost. -/
  | restarted (sender : String) (discarded : Nat)
  | undecodable (sender : String) (cause : FormatError)
  deriving DecidableEq, Repr

def AssemblyError.message : AssemblyError → String
  | .orphan sender => "fragment from " ++ sender ++ " without a preceding start"
  | .restarted sender discarded =>
    "new start from " ++ sender ++ " discarded " ++ discarded.repr ++ " buffered bytes"
  | .undecodable sender cause =>
    "undecodable fragment from " ++ sender ++ ": " ++ cause.message

inductive AssemblyEvent where
  | opened (topic sender : String)
  | completed (topic sender : String) (size : Nat)
  deriving DecidableEq, Repr

def AssemblyEvent.message : AssemblyEvent → String
  | .opened topic sender => "Opened assembly of " ++ topic ++ " from " ++ sender
  | .completed topic sender size =>
    "Completed assembly of " ++ topic ++ " from " ++ sender ++ " (" ++ size.repr ++ " bytes)"

structure Assemblies where
  bySender : Std.ExtTreeMap String Assembly := ∅

namespace Assemblies

def empty : Assemblies := {}

def get? (a : Assemblies) (sender : String) : Option Assembly :=
  a.bySender[sender]?

def pending (a : Assemblies) : Nat :=
  a.bySender.size

def insert (a : Assemblies) (sender : String) (assembly : Assembly) : Assemblies :=
  ⟨a.bySender.insert sender assembly⟩

def discard (a : Assemblies) (sender : String) : Assemblies :=
  ⟨a.bySender.erase sender⟩

/-- What comes of an arrival: a message if one is complete, what stays open, and what to note. -/
structure Outcome where
  result : Except AssemblyError (Option Message)
  assemblies : Assemblies
  events : List AssemblyEvent := []

/-- The topic that a first piece names, and the text that it begins. -/
def begin? (payload : Bytes) : Except FormatError Assembly := do
  let (topic, text) ← Message.split payload
  return { topic := ← Message.readText topic, text }

/-- A first piece opens a message. One that names no topic closes what was open. -/
def pushFirst (a : Assemblies) (sender : String) (payload : Bytes) : Outcome :=
  match begin? payload with
  | .error cause =>
    { result := .error (.undecodable sender cause), assemblies := a.discard sender }
  | .ok assembly =>
    { result :=
        match a.get? sender with
        | some stale => .error (.restarted sender stale.text.length)
        | none => .ok none
      assemblies := a.insert sender assembly
      events := [.opened assembly.topic sender] }

def pushMiddle (a : Assemblies) (sender : String) (payload : Bytes) : Outcome :=
  match a.get? sender with
  | none => { result := .error (.orphan sender), assemblies := a }
  | some assembly =>
    { result := .ok none
      assemblies := a.insert sender { assembly with text := assembly.text ++ payload } }

/-- A last piece closes the open message, which is complete if its text can be read. -/
def pushLast (a : Assemblies) (sender : String) (payload : Bytes) : Outcome :=
  match a.get? sender with
  | none => { result := .error (.orphan sender), assemblies := a }
  | some assembly =>
    match Message.readText (assembly.text ++ payload) with
    | .error cause =>
      { result := .error (.undecodable sender cause), assemblies := a.discard sender }
    | .ok text =>
      { result := .ok (some { topic := assembly.topic, text })
        assemblies := a.discard sender
        events := [.completed assembly.topic sender text.utf8ByteSize] }

def push (a : Assemblies) (arrival : Arrival) : Outcome :=
  match arrival.piece with
  | .single =>
    { result :=
        match Message.ofPayload arrival.payload with
        | .ok m => .ok (some m)
        | .error cause => .error (.undecodable arrival.sender cause)
      assemblies := a }
  | .first => a.pushFirst arrival.sender arrival.payload
  | .middle => a.pushMiddle arrival.sender arrival.payload
  | .last => a.pushLast arrival.sender arrival.payload

end Assemblies

end Courier
