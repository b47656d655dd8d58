import Std.Data.ExtTreeMap
import Courier.Frame.Reader
import Courier.Message

/-!
# Letters

A letter has a topic, a body and named attributes. It travels as a message whose text is a
sequence of frames: first the body under a reserved name, then the attributes in the order of
their names. When a name comes more than once, the last value counts.
-/

namespace Courier

/-- Attributes by name, in the order of the names. Texts are ordered by code points, which for
UTF-8 is the order of their bytes. -/
abbrev Attributes := Std.ExtTreeMap String String

structure Letter where
  topic : String
  body : String := ""
  attributes : Attributes := ∅

namespace Letter

/-- The name under which the body travels. -/
def bodyName : String := "m_body"

def set (l : Letter) (name value : String) : Letter :=
  if name = bodyName then
    { l with body := value }
  else
    { l with attributes := l.attributes.insert name value }

def get? (l : Letter) (name : String) : Option String :=
  l.attributes[name]?

def erase (l : Letter) (name : String) : Letter :=
  { l with attributes := l.attributes.erase name }

def frames (l : Letter) : List Frame :=
  { name := bodyName, value := l.body } ::
    l.attributes.toList.map fun (name, value) => { name, value }

def toMessage (l : Letter) : Message :=
  { topic := l.topic, text := Frame.encode l.frames }

/-- The letter whose frames are given, each later value replacing an earlier one. -/
def ofFrames (topic : String) (frames : List Frame) : Letter :=
  frames.foldl (fun l f => l.set f.name f.value) { topic }

def ofMessage (m : Message) : Except FormatError Letter :=
  ofFrames m.topic <$> Frame.decode m.text

instance : BEq Letter where
  beq l r := l.topic == r.topic && l.body == r.body && l.attributes == r.attributes

end Letter

end Courier
