import Courier.Json.Parser
import Courier.Json.Printer
import Courier.Letter
import Courier.Piece
import Courier.Text.Blank

/-!
# JSON forms

How messages, letters, flags and pieces are written as JSON and read back. What is read is not
checked against the rules of the library: a letter may come with an attribute under the name that
is reserved for the body.
-/

namespace Courier

def Message.toJson (m : Message) : String :=
  Json.object [("msg_type", Json.quote m.topic), ("text", Json.quote m.text)]

def Message.ofJson? (text : String) : Option Message := do
  match ← (← Json.parse? text).fields? ["msg_type", "text"] with
  | [topic, text] => return { topic := ← topic.text?, text := ← text.text? }
  | _ => none

def Letter.toJson (l : Letter) : String :=
  let attributes := l.attributes.toList.map fun (name, v) => (name, Json.quote v)
  Json.object
    [("msg_type", Json.quote l.topic), ("body", Json.quote l.body),
      ("attrs", Json.object attributes)]

/-- Attributes written as an object; the last value of a name counts. -/
def Attributes.ofJson? (v : Json.Value) : Option Attributes := do
  let members ← v.members?
  let pairs ← members.mapM fun (name, v) => v.text?.map (name, ·)
  return pairs.foldl (fun attributes (name, v) => attributes.insert name v) ∅

def Letter.ofJson? (text : String) : Option Letter := do
  match ← (← Json.parse? text).fields? ["msg_type", "body", "attrs"] with
  | [topic, body, attributes] =>
    return {
      topic := ← topic.text?
      body := ← body.text?
      attributes := ← Attributes.ofJson? attributes }
  | _ => none

def Flags.toJson (f : Flags) : String :=
  Json.quote f.text

def Flags.parts (s : List Char) : List (List Char) :=
  s.splitOn '|'

/-- The bits that hexadecimal digits write, with or without a plus sign before them. -/
def Flags.bits? (digits : List Char) : Option Flags := do
  let digits := match digits with
    | '+' :: rest => rest
    | _ => digits
  if digits.isEmpty then none
  let n ← Text.hexNumber? digits
  if n < UInt16.size then some ⟨n.toUInt16⟩ else none

def Flags.ofWord? (word : List Char) : Option Flags :=
  match word with
  | '0' :: 'x' :: digits => Flags.bits? digits
  | _ => Flags.named.lookup (String.ofList word)

/-- The flags that a text form names. A blank text names none. -/
def Flags.ofText? (text : String) : Option Flags := do
  if (Text.trim text.toList).isEmpty then
    return .empty
  let flags ← (Flags.parts text.toList).mapM fun word => Flags.ofWord? (Text.trim word)
  return flags.foldl Flags.union .empty

def Flags.ofJson? (text : String) : Option Flags := do
  Flags.ofText? (← (← Json.parse? text).text?)

def Piece.toJson (p : Piece) : String :=
  Json.quote p.name

/-- The piece that a JSON text writes: its name, or an object with nothing under its name. -/
def Piece.ofJson? (text : String) : Option Piece := do
  match ← Json.parse? text with
  | .string name? => Piece.named.lookup (← name?)
  | .object [(name?, .null)] => Piece.named.lookup (← name?)
  | _ => none

end Courier
