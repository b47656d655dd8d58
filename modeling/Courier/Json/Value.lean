/-!
# JSON values

A value as far as the library looks into it: numbers are recognised but not kept, and a string
that escapes half a surrogate pair is no text, which matters only where a text is asked for.
-/

namespace Courier.Json

/-- A JSON value. The members of an object keep their order and their repetitions. -/
inductive Value where
  | null
  | bool (b : Bool)
  | number
  | string (text? : Option String)
  | array (elements : List Value)
  | object (members : List (Option String × Value))

namespace Value

def text? : Value → Option String
  | string text? => text?
  | _ => none

def members? : Value → Option (List (String × Value))
  | object members => members.mapM fun (name?, v) => name?.map (·, v)
  | _ => none

def only? (name : String) (members : List (String × Value)) : Option Value :=
  match members.filter fun m => m.1 == name with
  | [m] => some m.2
  | _ => none

/-- The fields of a record, in the given order. A record is an object in which each field comes
exactly once, beside members of other names, or an array of exactly the fields. -/
def fields? (names : List String) : Value → Option (List Value)
  | array elements => if elements.length = names.length then some elements else none
  | v => v.members?.bind fun members => names.mapM fun name => only? name members

end Value

end Courier.Json
