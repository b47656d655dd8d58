import Courier.Journal

/-!
# Log lines

A log line shows the time, the component that speaks, the level and a message, in columns:
`[time] [component] [level] message`. On a terminal the parts are coloured.

The component is named by a field of the event, or else by the place in the program at which the
event arose.
-/

namespace Courier

/-- The value of a field: a text, or anything else in the form in which a developer reads it. -/
inductive FieldValue where
  | text (s : String)
  | shown (s : String)
  deriving DecidableEq, Repr

structure LogField where
  name : String
  value : FieldValue
  deriving DecidableEq, Repr

/-- A text without the quotes around it, if there are quotes at both ends. -/
def unquoted (s : String) : String :=
  match s.toList with
  | '"' :: rest => if rest.getLast? = some '"' then String.ofList rest.dropLast else s
  | _ => s

def FieldValue.plain : FieldValue → String
  | text s => s
  | shown s => unquoted s

def lastField? (fields : List LogField) (name : String) : Option String :=
  (fields.reverse.find? fun f => f.name = name).map fun f => f.value.plain

structure LogFormat where
  service : String
  color : Bool
  deriving DecidableEq, Repr

namespace LogFormat

def componentWidth : Nat := 20

def levelWidth : Nat := 9

def family : List Char := "postbox_".toList

/-- The first part of a place in the program, whose parts are separated by double colons. -/
def firstPart : List Char → List Char
  | ':' :: ':' :: _ => []
  | c :: rest => c :: firstPart rest
  | [] => []

def componentName (f : LogFormat) (component? : Option String) (target : String) : String :=
  match component? with
  | some component => f.service ++ "-" ++ component
  | none =>
    let place := firstPart target.toList
    if family.isPrefixOf place then
      f.service ++ "-" ++ String.ofList (place.drop family.length)
    else
      f.service

def fill (width : Nat) (s : List Char) : String :=
  String.ofList (s ++ List.replicate (width - s.length) ' ')

def componentColumn (name : String) : String :=
  let s := name.toList
  if componentWidth < s.length then
    String.ofList (s.take (componentWidth - 1) ++ ['…'])
  else
    fill componentWidth s

def sign : Level → String
  | .error => "✗ ERROR"
  | .warn => "⚠ WARN"
  | .info => "ℹ INFO"
  | .debug => "◦ DEBUG"
  | .trace => "◦ TRACE"

def levelColumn (l : Level) : String :=
  fill levelWidth (sign l).toList

def escape (code : String) : String :=
  "\x1b[" ++ code ++ "m"

def levelCode : Level → String
  | .error => "91"
  | .warn => "93"
  | .info => "32"
  | .debug | .trace => "90"

def paint (f : LogFormat) (code : String) : String :=
  if f.color then escape code else ""

def line (f : LogFormat) (time target : String) (l : Level) (fields : List LogField) : String :=
  let component := f.componentName (lastField? fields "component") target
  let message := (lastField? fields "message").getD ""
  f.paint "36" ++ "[" ++ time ++ "] [" ++ componentColumn component ++ "] ["
    ++ f.paint (levelCode l) ++ levelColumn l ++ f.paint "0" ++ "] " ++ message ++ f.paint "0"
    ++ "\n"

end LogFormat

def Event.target : Event → String
  | .daemon _ | .agent _ | .relay _ => "postbox_relay"
  | .assembly _ => "postbox_wire"
  | .remark _ => "postbox"

def Event.component? : Event → Option String
  | .remark r => r.component?
  | _ => none

def Event.fields (e : Event) : List LogField :=
  let message : LogField := { name := "message", value := .shown e.message }
  match e.component? with
  | none => [message]
  | some component => [message, { name := "component", value := .text component }]

def LogFormat.eventLine (f : LogFormat) (time : String) (e : Event) : String :=
  f.line time e.target e.level e.fields

end Courier
